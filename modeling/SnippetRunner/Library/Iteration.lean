/-!
# Iteration

The texts of the modules with iterators and with functions on functions. Every line of
them is indented by two, and they hold no braces.
-/

namespace SnippetRunner.Library

/-- The text of `itertools`. -/
def itertoolsText : String := r#"
  from operator import add as _add, index as _index, length_hint as _length

  class _source:
      def __iter__(self):
          return self
      def __next__(self):
          return next(self._items)

  class count:
      _complaint_name = 'itertools.count'
      def __init__(self, start=0, step=1):
          if not hasattr(start, '__add__') or isinstance(start, (str, list, tuple)):
              raise TypeError('a number is required')
          self._next, self._step = start, step
      def __iter__(self):
          return self
      def __next__(self):
          item = self._next
          self._next = item + self._step
          return item
      def __repr__(self):
          if self._step == 1 and isinstance(self._step, int):
              return 'count(%r)' % (self._next,)
          return 'count(%r, %r)' % (self._next, self._step)

  class cycle(_source):
      _complaint_name = 'itertools.cycle'
      def __init__(self, iterable, /):
          self._items = _again(iter(iterable))

  def _again(source):
      seen = []
      for item in source:
          yield item
          seen.append(item)
      while seen:
          yield from seen

  class repeat:
      _complaint_name = 'itertools.repeat'
      def __init__(self, *args, **keywords):
          if not args and 'object' not in keywords:
              raise TypeError("repeat() missing required argument 'object' (pos 1)")
          self._take(*args, **keywords)
      def _take(self, object, times=None):
          self._item = object
          self._left = None if times is None else max(_index(times), 0)
      def __iter__(self):
          return self
      def __next__(self):
          if self._left is not None:
              if self._left == 0:
                  raise StopIteration
              self._left -= 1
          return self._item
      def __length_hint__(self):
          if self._left is None:
              raise TypeError('len() of unsized object')
          return self._left
      def __repr__(self):
          if self._left is None:
              return 'repeat(%r)' % (self._item,)
          return 'repeat(%r, %d)' % (self._item, self._left)

  class accumulate(_source):
      _complaint_name = 'itertools.accumulate'
      def __init__(self, iterable, func=None, *, initial=None):
          self._items = _totals(iter(iterable), _add if func is None else func, initial)

  def _totals(source, func, total):
      if total is None:
          for total in source:
              break
          else:
              return
      yield total
      for item in source:
          total = func(total, item)
          yield total

  class chain(_source):
      _complaint_name = 'itertools.chain'
      def __init__(self, *iterables):
          self._items = _linked(iter(iterables))
      @classmethod
      def from_iterable(cls, iterable, /):
          made = cls()
          made._items = _linked(iter(iterable))
          return made

  def _linked(iterables):
      for iterable in iterables:
          yield from iter(iterable)

  class compress(_source):
      _complaint_name = 'itertools.compress'
      def __init__(self, data, selectors):
          self._items = _selected(iter(data), iter(selectors))

  def _selected(data, selectors):
      for item, wanted in zip(data, selectors):
          if wanted:
              yield item

  class dropwhile(_source):
      _complaint_name = 'itertools.dropwhile'
      def __init__(self, predicate, iterable, /):
          self._items = _dropped(predicate, iter(iterable))

  def _dropped(predicate, source):
      for item in source:
          if not predicate(item):
              yield item
              break
      yield from source

  class takewhile(_source):
      _complaint_name = 'itertools.takewhile'
      def __init__(self, predicate, iterable, /):
          self._items = _taken(predicate, iter(iterable))

  def _taken(predicate, source):
      for item in source:
          if not predicate(item):
              break
          yield item

  class filterfalse(_source):
      _complaint_name = 'itertools.filterfalse'
      def __init__(self, predicate, iterable, /):
          self._items = _refused(predicate, iter(iterable))

  def _refused(predicate, source):
      for item in source:
          if not (item if predicate is None or predicate is bool else predicate(item)):
              yield item

  class starmap(_source):
      _complaint_name = 'itertools.starmap'
      def __init__(self, function, iterable, /):
          self._items = _spread(function, iter(iterable))

  def _spread(function, source):
      for args in source:
          yield function(*args)

  class islice(_source):
      _complaint_name = 'itertools.islice'
      def __init__(self, iterable, /, *limits):
          if not limits:
              raise TypeError('islice expected at least 2 arguments, got 1')
          if len(limits) > 3:
              raise TypeError('islice expected at most 4 arguments, got %d' % (len(limits) + 1))
          start, stop, step = (0, limits[0], 1) if len(limits) == 1 else (limits + (1,))[:3]
          if stop is not None and (not _is_whole(stop) or stop == -1):
              raise ValueError('Stop argument for islice() must be None or an integer: '
                               '0 <= x <= sys.maxsize.')
          start = 0 if start is None else start
          if not _is_whole(start) or start < 0 or stop is not None and stop < 0:
              raise ValueError('Indices for islice() must be None or an integer: '
                               '0 <= x <= sys.maxsize.')
          step = 1 if step is None else step
          if not _is_whole(step) or step < 1:
              raise ValueError('Step for islice() must be a positive integer or None.')
          self._items = _sliced(iter(iterable), int(start), stop, int(step))

  def _is_whole(v):
      return hasattr(v, '__index__')

  def _sliced(source, start, stop, step):
      place = 0
      while place < start:
          for _ in source:
              break
          else:
              return
          place += 1
      if stop is not None and place >= stop:
          return
      for item in source:
          if (place - start) % step == 0:
              yield item
          place += 1
          if stop is not None and place >= stop:
              return

  class pairwise(_source):
      _complaint_name = 'itertools.pairwise'
      def __init__(self, iterable, /):
          self._items = _pairs(iter(iterable))

  def _pairs(source):
      for left in source:
          break
      else:
          return
      for right in source:
          yield left, right
          left = right

  class zip_longest(_source):
      _complaint_name = 'itertools.zip_longest'
      def __init__(self, *iterables, fillvalue=None):
          self._items = _longest([iter(iterable) for iterable in iterables], fillvalue)

  def _longest(sources, fillvalue):
      left = len(sources)
      if not left:
          return
      while True:
          row = []
          for place, source in enumerate(sources):
              if source is None:
                  row.append(fillvalue)
                  continue
              for item in source:
                  row.append(item)
                  break
              else:
                  left -= 1
                  if not left:
                      return
                  sources[place] = None
                  row.append(fillvalue)
          yield tuple(row)

  class groupby(_source):
      _complaint_name = 'itertools.groupby'
      def __init__(self, iterable, key=None):
          self._source = iter(iterable)
          self._key = key
          self._number = 0
          self._ahead = None
          self._items = self._groups()
      def _advance(self):
          for item in self._source:
              self._ahead = (item if self._key is None else self._key(item), item)
              return True
          self._ahead = None
          return False
      def _groups(self):
          self._advance()
          while self._ahead is not None:
              key = self._ahead[0]
              self._number += 1
              yield key, _grouper(self._group(key, self._number))
              while self._ahead is not None and self._ahead[0] == key:
                  self._advance()
      def _group(self, key, number):
          while self._ahead is not None and self._number == number and self._ahead[0] == key:
              item = self._ahead[1]
              yield item
              if self._number != number:
                  return
              self._advance()

  class _grouper(_source):
      def __init__(self, items):
          self._items = items

  def tee(iterable, n=2, /):
      if n < 0:
          raise ValueError('n must be >= 0')
      source, rows = iter(iterable), [[] for _ in range(n)]
      return tuple([_tee(source, rows, row) for row in rows])

  class _tee(_source):
      def __init__(self, source, rows, row):
          self._items = _shared(source, rows, row)

  def _shared(source, rows, row):
      while True:
          if not row:
              for item in source:
                  for other in rows:
                      other.append(item)
                  break
              else:
                  return
          yield row.pop(0)

  class product(_source):
      _complaint_name = 'itertools.product'
      def __init__(self, *iterables, repeat=1):
          if repeat < 0:
              raise ValueError('repeat argument cannot be negative')
          self._items = _product([tuple(iterable) for iterable in iterables] * repeat)

  def _product(pools):
      places = [0] * len(pools)
      if not all(pools):
          return
      while True:
          yield tuple([pool[place] for pool, place in zip(pools, places)])
          for number in reversed(range(len(pools))):
              places[number] += 1
              if places[number] < len(pools[number]):
                  break
              places[number] = 0
          else:
              return

  class permutations(_source):
      _complaint_name = 'itertools.permutations'
      def __init__(self, iterable, r=None):
          pool = tuple(iterable)
          if r is not None and not isinstance(r, int):
              raise TypeError('Expected int as r')
          if r is not None and r < 0:
              raise ValueError('r must be non-negative')
          self._items = _permutations(pool, len(pool) if r is None else r)

  def _permutations(pool, r):
      n = len(pool)
      if r > n:
          return
      order = list(range(n))
      turns = list(range(n, n - r, -1))
      yield tuple([pool[i] for i in order[:r]])
      while n:
          for i in reversed(range(r)):
              turns[i] -= 1
              if turns[i] == 0:
                  order[i:] = order[i + 1:] + order[i:i + 1]
                  turns[i] = n - i
              else:
                  j = turns[i]
                  order[i], order[-j] = order[-j], order[i]
                  yield tuple([pool[k] for k in order[:r]])
                  break
          else:
              return

  class combinations(_source):
      _complaint_name = 'itertools.combinations'
      def __init__(self, iterable, r):
          pool = tuple(iterable)
          if r < 0:
              raise ValueError('r must be non-negative')
          self._items = _combinations(pool, r)

  def _combinations(pool, r):
      n = len(pool)
      if r > n:
          return
      order = list(range(r))
      yield tuple([pool[i] for i in order])
      while True:
          for i in reversed(range(r)):
              if order[i] != i + n - r:
                  break
          else:
              return
          order[i] += 1
          for j in range(i + 1, r):
              order[j] = order[j - 1] + 1
          yield tuple([pool[k] for k in order])

  class combinations_with_replacement(_source):
      _complaint_name = 'itertools.combinations_with_replacement'
      def __init__(self, iterable, r):
          pool = tuple(iterable)
          if r < 0:
              raise ValueError('r must be non-negative')
          self._items = _repetitions(pool, r)

  def _repetitions(pool, r):
      n = len(pool)
      if not n and r:
          return
      order = [0] * r
      yield tuple([pool[i] for i in order])
      while True:
          for i in reversed(range(r)):
              if order[i] != n - 1:
                  break
          else:
              return
          order[i:] = [order[i] + 1] * (r - i)
          yield tuple([pool[k] for k in order])
"#

/-- The text of `functools`. -/
def functoolsText : String := r#"
  WRAPPER_ASSIGNMENTS = ('__module__', '__name__', '__qualname__', '__doc__', '__annotations__')
  WRAPPER_UPDATES = ('__dict__',)
  _missing = object()

  def update_wrapper(wrapper, wrapped, assigned=WRAPPER_ASSIGNMENTS, updated=WRAPPER_UPDATES):
      for name in assigned:
          value = getattr(wrapped, name, _missing)
          if value is not _missing:
              setattr(wrapper, name, value)
      for name in updated:
          getattr(wrapper, name).update(getattr(wrapped, name, dict()))
      wrapper.__wrapped__ = wrapped
      return wrapper

  def wraps(wrapped, assigned=WRAPPER_ASSIGNMENTS, updated=WRAPPER_UPDATES):
      return partial(update_wrapper, wrapped=wrapped, assigned=assigned, updated=updated)

  def reduce(function, iterable, initial=_missing, /):
      try:
          source = iter(iterable)
      except TypeError:
          raise TypeError('reduce() arg 2 must support iteration') from None
      if initial is _missing:
          for initial in source:
              break
          else:
              raise TypeError('reduce() of empty iterable with no initial value')
      for item in source:
          initial = function(initial, item)
      return initial

  class partial:
      _complaint_name = 'functools.partial'
      def __new__(cls, func, /, *args, **keywords):
          if not callable(func):
              raise TypeError('the first argument must be callable')
          if isinstance(func, partial):
              args = func.args + args
              keywords = dict(func.keywords, **keywords)
              func = func.func
          self = super().__new__(cls)
          self.func, self.args, self.keywords = func, args, keywords
          return self
      def __init__(self, *args, **keywords):
          pass
      def __call__(self, /, *args, **keywords):
          return self.func(*self.args, *args, **dict(self.keywords, **keywords))
      def __repr__(self):
          parts = [repr(self.func)] + [repr(arg) for arg in self.args]
          parts += ['%s=%r' % entry for entry in self.keywords.items()]
          return 'functools.partial(%s)' % ', '.join(parts)

  class partialmethod:
      def __init__(self, func, /, *args, **keywords):
          self.func, self.args, self.keywords = func, args, keywords
      def __get__(self, owner, kind=None):
          func = self.func
          if hasattr(func, '__get__') and owner is not None:
              func = func.__get__(owner, kind)
              return partial(func, *self.args, **self.keywords)
          return partial(func, *self.args, **self.keywords)

  def cmp_to_key(mycmp):
      class K:
          __slots__ = ('obj',)
          def __init__(self, obj):
              self.obj = obj
          def __lt__(self, other):
              return mycmp(self.obj, other.obj) < 0
          def __gt__(self, other):
              return mycmp(self.obj, other.obj) > 0
          def __eq__(self, other):
              return mycmp(self.obj, other.obj) == 0
          def __le__(self, other):
              return mycmp(self.obj, other.obj) <= 0
          def __ge__(self, other):
              return mycmp(self.obj, other.obj) >= 0
          __hash__ = None
      return K

  class _stats(tuple):
      __slots__ = ()
      _fields = ('hits', 'misses', 'maxsize', 'currsize')
      def __new__(cls, *parts):
          return tuple.__new__(cls, parts)
      hits = property(lambda self: self[0])
      misses = property(lambda self: self[1])
      maxsize = property(lambda self: self[2])
      currsize = property(lambda self: self[3])
      def _asdict(self):
          return dict(zip(self._fields, self))
      def __repr__(self):
          return 'CacheInfo(hits=%r, misses=%r, maxsize=%r, currsize=%r)' % tuple(self)
  _stats.__name__ = _stats.__qualname__ = 'CacheInfo'

  class _args(tuple):
      pass

  def _argument_key(args, keywords, typed):
      if not keywords and not typed:
          if len(args) == 1 and type(args[0]) in (int, str):
              return args[0]
          return _args(args)
      key = args
      if keywords:
          key += (_missing,)
          for entry in keywords.items():
              key += entry
      if typed:
          key += tuple([type(arg) for arg in args])
          key += tuple([type(arg) for arg in keywords.values()])
      return _args(key)

  def lru_cache(maxsize=128, typed=False):
      if callable(maxsize) and isinstance(typed, bool):
          return _cached(maxsize, 128, typed)
      if maxsize is not None and not isinstance(maxsize, int):
          raise TypeError('Expected first argument to be an integer, a callable, or None')
      limit = maxsize if maxsize is None else max(maxsize, 0)
      def decorating(function):
          return _cached(function, limit, typed)
      return decorating

  def cache(user_function, /):
      return _cached(user_function, None, False)

  def _cached(function, maxsize, typed):
      if not callable(function):
          raise TypeError('the first argument must be callable')
      known = dict()
      hits = misses = 0
      def wrapper(*args, **keywords):
          nonlocal hits, misses
          if maxsize == 0:
              misses += 1
              return function(*args, **keywords)
          key = _argument_key(args, keywords, typed)
          value = known.get(key, _missing)
          if value is not _missing:
              hits += 1
              if maxsize is not None:
                  del known[key]
                  known[key] = value
              return value
          misses += 1
          value = function(*args, **keywords)
          if maxsize is not None and key not in known and len(known) >= maxsize:
              for oldest in known:
                  del known[oldest]
                  break
          known[key] = value
          return value
      def cache_info():
          return _stats(hits, misses, maxsize, len(known))
      def cache_clear():
          nonlocal hits, misses
          hits = misses = 0
          known.clear()
      wrapper.cache_info = cache_info
      wrapper.cache_clear = cache_clear
      wrapper.cache_parameters = lambda: dict(maxsize=maxsize, typed=typed)
      return update_wrapper(wrapper, function)

  class cached_property:
      def __init__(self, func):
          self.func, self.attrname, self.__doc__ = func, None, func.__doc__
      def __set_name__(self, owner, name):
          if self.attrname is None:
              self.attrname = name
          elif name != self.attrname:
              raise TypeError('Cannot assign the same cached_property to two different names '
                              '(%r and %r).' % (self.attrname, name))
      def __get__(self, owner, kind=None):
          if owner is None:
              return self
          if self.attrname is None:
              raise TypeError('Cannot use cached_property instance without calling __set_name__ '
                              'on it.')
          held = owner.__dict__
          if self.attrname not in held:
              held[self.attrname] = self.func(owner)
          return held[self.attrname]

  def _from_other(name, other, finish):
      def method(self, value):
          answer = getattr(type(self), other)(self, value)
          if answer is NotImplemented:
              return answer
          return finish(self, value, answer)
      method.__name__ = name
      return method

  _orders = dict(
      __lt__=[('__gt__', lambda s, v, r: not r and s != v), ('__le__', lambda s, v, r: r or s == v),
              ('__ge__', lambda s, v, r: not r)],
      __le__=[('__ge__', lambda s, v, r: not r or s == v), ('__lt__', lambda s, v, r: r and s != v),
              ('__gt__', lambda s, v, r: not r)],
      __gt__=[('__lt__', lambda s, v, r: not r and s != v), ('__ge__', lambda s, v, r: r or s == v),
              ('__le__', lambda s, v, r: not r)],
      __ge__=[('__le__', lambda s, v, r: not r or s == v), ('__gt__', lambda s, v, r: r and s != v),
              ('__lt__', lambda s, v, r: not r)])

  def total_ordering(cls):
      roots = [name for name in _orders
               if getattr(cls, name, None) is not getattr(object, name, None)]
      if not roots:
          raise ValueError('must define at least one ordering operation: < > <= >=')
      root = max(roots)
      for name, finish in _orders[root]:
          if name not in roots:
              setattr(cls, name, _from_other(name, root, finish))
      return cls

  def _hinted(hint, func):
      if not isinstance(hint, str):
          return [type(None) if hint is None else hint]
      found = []
      for text in hint.split('|'):
          names = text.strip().split('.')
          known = func.__globals__ if names[0] in func.__globals__ else func.__builtins__
          if names == ['None']:
              value = type(None)
          elif names[0] in known:
              value = known[names[0]]
          else:
              raise NameError("name '%s' is not defined" % names[0])
          for name in names[1:]:
              value = getattr(value, name)
          found.append(value)
      return found

  def singledispatch(func):
      registry = dict()
      registry[object] = func
      def dispatch(kind):
          for base in kind.__mro__[:-1]:
              if base in registry:
                  return registry[base]
          for base in registry:
              if base is not object and issubclass(kind, base):
                  return registry[base]
          return registry[object]
      def register(cls, func=None):
          if isinstance(cls, type):
              if func is None:
                  return lambda f: register(cls, f)
          else:
              func = cls
              hints = getattr(func, '__annotations__', None)
              if not hints:
                  raise TypeError(
                      'Invalid first argument to `register()`: %r. Use either '
                      '`@register(some_class)` or plain `@register` on an annotated function.'
                      % (cls,))
              name, hint = next(iter(hints.items()))
              for kind in _hinted(hint, func):
                  if not isinstance(kind, type):
                      raise TypeError('Invalid annotation for %r. %r is not a class.'
                                      % (name, kind))
                  registry[kind] = func
              return func
          registry[cls] = func
          return func
      def wrapper(*args, **keywords):
          if not args:
              raise TypeError('%s requires at least 1 positional argument' % func.__name__)
          return dispatch(args[0].__class__)(*args, **keywords)
      wrapper.register, wrapper.dispatch, wrapper.registry = register, dispatch, registry
      return update_wrapper(wrapper, func)

  class singledispatchmethod:
      def __init__(self, func):
          self.dispatcher, self.func = singledispatch(func), func
      def register(self, cls, method=None):
          return self.dispatcher.register(cls, func=method)
      def __get__(self, owner, kind=None):
          def method(*args, **keywords):
              found = self.dispatcher.dispatch(args[0].__class__)
              return found.__get__(owner, kind)(*args, **keywords)
          method.register = self.register
          return update_wrapper(method, self.func)
"#

end SnippetRunner.Library
